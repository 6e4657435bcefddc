import TypeExport.Log.Basic
import TypeExport.Declaration.Render

/-!
# Types that write one file

The file of a type is named for its target name.  Types whose target names give one file are
reported, file by file.
-/

namespace TypeExport

def fileExtension : String := ".ts"

def Descriptor.fileStem (d : Descriptor) : String :=
  Name.fileBase d.targetName

/-- The stems that occur, in ascending order. -/
def clashStems (types : List Descriptor) : List String :=
  (types.map Descriptor.fileStem).eraseDups.mergeSort fun a b => decide (a ≤ b)

/-- The full names of the types that write one file, in ascending order. -/
def ownersOf (types : List Descriptor) (stem : String) : List String :=
  ((types.filter fun d => d.fileStem == stem).map (·.fullName)).mergeSort fun a b => decide (a ≤ b)

def clashLine (stem : String) (owners : List String) : LogLine :=
  .warning ("Types " ++ ", ".intercalate owners ++ " all write " ++ stem ++ fileExtension ++
    "; the last one written wins")

/-- A warning for each file that several types write. -/
def clashWarnings (types : List Descriptor) : List LogLine :=
  (clashStems types).filterMap fun stem =>
    let owners := ownersOf types stem
    if 1 < owners.length then some (clashLine stem owners) else none

end TypeExport

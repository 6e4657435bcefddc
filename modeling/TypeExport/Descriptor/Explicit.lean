import TypeExport.Descriptor.Basic

/-!
# Explicit type graphs

A type graph may be given as a list of types under keys, with properties that refer to the keys.
-/

namespace TypeExport

/-- A type of an explicit graph: its descriptor, and the outcome of reading its properties. -/
structure ExplicitType (ε : Type) where
  key : String
  descriptor : Descriptor
  properties : Except ε (List (Property String))

namespace Shape

/-- The shape with every type replaced, if all can be. -/
def mapM? {ι κ : Type} (f : ι → Option κ) : Shape ι → Option (Shape κ)
  | .direct t => (f t).map .direct
  | .nullable s => (s.mapM? f).map .nullable
  | .array s => (s.mapM? f).map .array
  | .dictionary k v => do return .dictionary (← k.mapM? f) (← v.mapM? f)

end Shape

namespace TypeGraph

variable {ε : Type} (types : List (ExplicitType ε))

/-- The place of the first type with a key. -/
def place? (key : String) : Option (Fin types.length) :=
  (List.finRange types.length).find? fun i => types[i].key == key

/-- The graph of the types; a property of which a type is missing is left out. -/
def ofTypes : TypeGraph ε where
  Node := Fin types.length
  descriptor i := types[i].descriptor
  properties i := types[i].properties.map fun properties =>
    properties.filterMap fun p =>
      (p.shape.mapM? (place? types)).map fun shape =>
        { name := p.name, shape, navigation := p.navigation, ignored := p.ignored }
  fullNames := types.map fun t => t.descriptor.fullName
  fullName_mem i := List.mem_map_of_mem (List.getElem_mem i.isLt)

end TypeGraph

end TypeExport

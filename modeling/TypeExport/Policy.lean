/-!
# Policies

How source types are turned into declarations.
-/

namespace TypeExport

/-- The choices a configuration makes about declarations. -/
structure Policy where
  camelCaseKeys : Bool := true
  inlineNested : Bool := true
  dropNavigation : Bool := true
  keepIgnored : Bool := true
  typeMappings : List (String × String) := []
  header : Bool := true
  manifests : Bool := false
  deriving Repr, DecidableEq

end TypeExport

import TypeExport.Lookup.EnumModule
import TypeExport.Policy
import TypeExport.Text.CodeText

/-!
# Configurations

A configuration names the enum sources, the scan targets and the output directories, and chooses a
policy.  It is read with texts that may hold surrogates, and it is run with strings.
-/

namespace TypeExport

/-- A configuration; `τ` is the type of the texts. -/
structure Config (τ : Type) where
  connection : τ
  targets : List τ
  interfaceDirectory : τ
  enumDirectory : τ
  moduleDirectory : τ
  sources : List (EnumSource τ)
  manifests : Bool
  camelCaseKeys : Bool
  header : Bool
  dropNavigation : Bool
  inlineNested : Bool
  keepIgnored : Bool
  typeMappings : List (τ × τ)
  deriving Repr, DecidableEq

namespace Config

/-- The configuration that chooses nothing. -/
def standard : Config CodeText where
  connection := []
  targets := []
  interfaceDirectory := .ofString "./src/app/core/models/generated/"
  enumDirectory := .ofString "./src/app/core/enums/generated/"
  moduleDirectory := .ofString "./generated/enums/"
  sources := []
  manifests := false
  camelCaseKeys := true
  header := true
  dropNavigation := true
  inlineNested := true
  keepIgnored := true
  typeMappings := []

/-- The configuration with all texts converted, if all can be. -/
def map? {σ τ : Type} (f : σ → Option τ) (c : Config σ) : Option (Config τ) := do
  return { connection := ← f c.connection
           targets := ← c.targets.mapM f
           interfaceDirectory := ← f c.interfaceDirectory
           enumDirectory := ← f c.enumDirectory
           moduleDirectory := ← f c.moduleDirectory
           sources := ← c.sources.mapM (EnumSource.map? f)
           manifests := c.manifests
           camelCaseKeys := c.camelCaseKeys
           header := c.header
           dropNavigation := c.dropNavigation
           inlineNested := c.inlineNested
           keepIgnored := c.keepIgnored
           typeMappings := ← c.typeMappings.mapM fun (k, v) => do return (← f k, ← f v) }

def policy (c : Config String) : Policy where
  camelCaseKeys := c.camelCaseKeys
  inlineNested := c.inlineNested
  dropNavigation := c.dropNavigation
  keepIgnored := c.keepIgnored
  typeMappings := c.typeMappings
  header := c.header
  manifests := c.manifests

end Config

end TypeExport
